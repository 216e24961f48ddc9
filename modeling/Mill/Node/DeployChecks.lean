import Mill.Lib.Group
import Mill.Node.DeployTrace

/-! What the checks before a deploy and its plan are worth: every secret is there when the
environment is resolved, and the plan leads from the old services to the new ones. -/

namespace Mill

open Finmap Multiset Program

def EnvSecret (env : Finmap fun _ : String => EnvValue) (secret : String) : Prop :=
  ∃ key parts, env.lookup key = some (.interpolated parts) ∧ .secret secret ∈ parts

def ClusterConfig.HasEnv (config : ClusterConfig) (env : Finmap fun _ : String => EnvValue) :
    Prop :=
  (∃ name d, config.services.lookup name = some d ∧ d.env = env) ∨
    ∃ name d, config.tasks.lookup name = some d ∧ d.env = env

section

variable {config : ClusterConfig} {env : Finmap fun _ : String => EnvValue}
  {known : Finset String} {ctx : DeployCtx} {w : World}

lemma collectMissingSecrets_eq_zero {context : String} :
    collectMissingSecrets env known context = 0 ↔
      ∀ secret, EnvSecret env secret → secret ∈ known := by
  constructor
  · rintro h secret ⟨key, parts, hvalue, hmem⟩
    by_contra hnot
    have hmissing : s!"{context}/{secret}" ∈ collectMissingSecrets env known context := by
      apply mem_bind.mpr
      refine ⟨.interpolated parts, Finmap.mem_values.mpr ⟨key, hvalue⟩, ?_⟩
      exact mem_coe.mpr (List.mem_filterMap.mpr ⟨.secret secret, hmem, if_neg hnot⟩)
    rw [h] at hmissing
    exact notMem_zero _ hmissing
  · intro h
    apply eq_zero_of_forall_notMem
    intro x hx
    obtain ⟨value, hvalue, hx⟩ := mem_bind.mp hx
    obtain ⟨key, hkey⟩ := Finmap.mem_values.mp hvalue
    cases value with
    | literal => exact notMem_zero _ hx
    | interpolated parts =>
      obtain ⟨part, hpart, hx⟩ := List.mem_filterMap.mp (mem_coe.mp hx)
      cases part with
      | literal text | serviceAddress service => cases hx
      | secret name =>
        dsimp only at hx
        rw [if_pos (h name ⟨key, parts, hkey, hpart⟩)] at hx
        cases hx

lemma validateSecretRefs_eq_ok : validateSecretRefs config known = .ok () ↔
    ∀ env, config.HasEnv env → ∀ secret, EnvSecret env secret → secret ∈ known := by
  have hbind {V : Type} (m : Finmap fun _ : String => V)
      (f : V → Finmap fun _ : String => EnvValue) :
      (m.entries.bind fun e => collectMissingSecrets (f e.2) known e.1) = 0 ↔
        ∀ name d, m.lookup name = some d → ∀ secret, EnvSecret (f d) secret → secret ∈ known := by
    rw [eq_zero_iff_forall_notMem]
    simp only [mem_bind, not_exists, not_and]
    constructor
    · intro h name d hd
      apply collectMissingSecrets_eq_zero.mp
      have hentry := lookup_eq_some_iff.mp hd
      exact eq_zero_of_forall_notMem fun x => h x ⟨name, d⟩ hentry
    · rintro h x ⟨name, d⟩ hd hx
      rw [collectMissingSecrets_eq_zero.mpr (h name d (lookup_eq_some_iff.mpr hd))] at hx
      exact notMem_zero _ hx
  simp only [validateSecretRefs, ite_eq_left_iff, reduceCtorEq, imp_false, not_not, add_eq_zero,
    hbind]
  constructor
  · rintro ⟨hservices, htasks⟩ env (⟨name, d, hd, rfl⟩ | ⟨name, d, hd, rfl⟩)
    · exact hservices name d hd
    · exact htasks name d hd
  · intro h
    exact ⟨fun name d hd => h d.env (.inl ⟨name, d, hd, rfl⟩),
      fun name d hd => h d.env (.inr ⟨name, d, hd, rfl⟩)⟩

/-- Only secrets that are stored are looked up. -/
def secretSpec : Spec Effect Effect.Answer World where
  pre w e := ∀ secret, e = .read (.secret secret) → secret ∈ w.fsm.secrets
  post := World.Answered

lemma keeps_resolveEnvPart {part : EnvPart}
    (h : ∀ secret, part = .secret secret → secret ∈ w.fsm.secrets) :
    (resolveEnvPart ctx part).Keeps secretSpec (· = w) := by
  rintro _ rfl
  cases part with
  | literal => rfl
  | serviceAddress =>
    refine wp_bind (wp_effect (fun secret heq => by cases heq) fun address w' hr => ?_)
    cases hr
    dsimp only
    split <;> rfl
  | secret name =>
    refine wp_readSecret (fun secret heq => ?_) fun secret w' hr => ?_
    · cases heq
      exact h name rfl
    · cases hr
      exact ⟨fun _ _ _ _ _ _ => rfl, fun _ _ => rfl⟩

lemma wp_resolveEnv_stored (h : ∀ secret, EnvSecret env secret → secret ∈ w.fsm.secrets) :
    (resolveEnv ctx env).wp secretSpec (fun _ w' => w' = w) w := by
  refine wp_bind (wp_effect (fun secret heq => by cases heq) fun order w' hr => ?_)
  cases hr with
  | visitEnv _ _ horder =>
    refine Keeps.foldEach (I := (· = w)) (fun _ e hin => .bind ?_ fun _ => .pure _) ∅ w rfl
    obtain ⟨key, value⟩ := e
    cases value with
    | literal => exact fun _ h => h
    | interpolated parts =>
      refine Keeps.foldEach (fun _ part hpart => .bind ?_ fun _ => .pure _) ""
      refine keeps_resolveEnvPart fun secret heq => ?_
      exact h secret ⟨key, parts, (Finmap.mem_iff_of_entries horder).mp hin, heq ▸ hpart⟩

/-- The check passes exactly if every secret is there, and then every secret that an environment
of the config is resolved with is found. -/
theorem secret_check_matches_resolution (ctx : DeployCtx) (config : ClusterConfig) (s : FsmState) :
    (validateSecretRefs config s.secrets.keys = .ok () ↔
      ∀ env, config.HasEnv env → ∀ secret, EnvSecret env secret → secret ∈ s.secrets) ∧
    (validateSecretRefs config s.secrets.keys = .ok () → ∀ env, config.HasEnv env →
      ∀ w w' secret, w.fsm = s →
        Performs World.answer w (resolveEnv ctx env) w' (.read (.secret secret)) →
        ∃ stored, w'.fsm.secrets.lookup secret = some stored) := by
  simp only [validateSecretRefs_eq_ok, mem_keys, true_and]
  rintro h env henv w w' secret rfl hperforms
  have hstored : secret ∈ w'.fsm.secrets :=
    pre_of_performs (wp_resolveEnv_stored (h env henv))
      (fun _ _ _ _ _ ha => World.answered_of_answer ha) hperforms secret rfl
  exact Option.isSome_iff_exists.mp (lookup_isSome.mpr hstored)

end

section

def ClusterConfig.Needs (config : ClusterConfig) (r : Resources) : Prop :=
  (∃ name d, config.services.lookup name = some d ∧ d.resources = r) ∨
    ∃ name d, config.tasks.lookup name = some d ∧ d.resources = r

def FsmState.emptied (s : FsmState) : FsmState := { s with allocs := ∅, volumes := ∅ }

variable {config : ClusterConfig} {r : Resources} {s : FsmState} {nodes : List FsmNode}

lemma foldl_max_le {α : Type} [Max α] [LE α] (hmax : ∀ a b c : α, max a b ≤ c ↔ a ≤ c ∧ b ≤ c)
    {l : List α} {a c : α} : l.foldl max a ≤ c ↔ a ≤ c ∧ ∀ x ∈ l, x ≤ c := by
  induction l generalizing a with
  | nil => simp
  | cons x l ih => rw [List.foldl_cons, ih, hmax, List.forall_mem_cons, and_assoc]

lemma le_max_of_validateResourceCapacity {resources : List NodeResources}
    (h : validateResourceCapacity config resources = .ok ()) (hr : config.Needs r) :
    r.cpu ≤ (resources.map NodeResources.cpuTotal).foldl max 0 ∧
      r.memory ≤ (resources.map NodeResources.memoryTotal).foldl max 0 := by
  let exceeds (r : Resources) : Bool :=
    (resources.map NodeResources.cpuTotal).foldl max 0 < r.cpu ||
      (resources.map NodeResources.memoryTotal).foldl max 0 < r.memory
  have hnone {V : Type} {m : Finmap fun _ : String => V} {f : V → Resources}
      (hm : ((m.entries.filter fun e => exceeds (f e.2)).map Sigma.fst) = 0) {name : String} {d : V}
      (hd : m.lookup name = some d) (hneed : f d = r) : exceeds r = false := by
    rw [Multiset.map_eq_zero, filter_eq_nil] at hm
    exact hneed ▸ Bool.eq_false_iff.mpr (hm ⟨name, d⟩ (lookup_eq_some_iff.mp hd))
  unfold validateResourceCapacity at h
  split_ifs at h with hempty
  simp only [ite_eq_left_iff, reduceCtorEq, imp_false, not_not, add_eq_zero] at h
  have hfits : exceeds r = false := by
    rcases hr with ⟨name, d, hd, hneed⟩ | ⟨name, d, hd, hneed⟩
    · exact hnone (f := ServiceDef.resources) h.1 hd hneed
    · exact hnone (f := TaskDef.resources) h.2 hd hneed
  simpa only [exceeds, Bool.or_eq_false_iff, decide_eq_false_iff_not, Rat.not_lt,
    UInt64.not_lt] using hfits

lemma hasCapacity_emptied {n : FsmNode} (hn : s.nodes.lookup n.raftId = some n)
    (hcpu : r.cpu ≤ n.resources.cpuTotal) (hmemory : r.memory ≤ n.resources.memoryTotal) :
    hasCapacity (s.emptied.nodeAvailableResources n.raftId) r = true := by
  have hused : s.emptied.cpuUsed n.millId = 0 ∧ s.emptied.memUsed n.millId = 0 := ⟨rfl, rfl⟩
  have hlookup : s.emptied.nodes.lookup n.raftId = some n := hn
  simp only [FsmState.nodeAvailableResources, hlookup, Option.map_some, hused.1, hused.2,
    hasCapacity, FsmState.saturatingSub, sub_zero, UInt64.zero_le, if_true, Bool.and_eq_true,
    decide_eq_true_eq]
  exact ⟨hcpu, hmemory⟩

lemma validateResourceCapacity_largest {resources : List NodeResources} (hne : resources ≠ []) :
    validateResourceCapacity ⟨Finmap.singleton "web" ⟨"", 80, 1,
      ⟨(resources.map NodeResources.cpuTotal).foldl max 0,
        (resources.map NodeResources.memoryTotal).foldl max 0⟩, ∅, none, none, [], []⟩, ∅⟩
      resources = .ok () := by
  have hsome : resources.isEmpty = false := List.isEmpty_eq_false_iff.mpr hne
  have hempty : (∅ : Finmap fun _ : String => TaskDef).entries = 0 := rfl
  simp [validateResourceCapacity, hsome, Finmap.singleton, hempty]

/-- What passes the check fits on some node, and the scheduler finds one as long as nothing else
runs, whatever the config is exactly if one Ready node is the largest in both respects. -/
theorem capacity_check_suffices (s : FsmState) (hkeyed : s.NodesKeyed) (nodes : List FsmNode)
    (hnodes : s.nodes.values = nodes) :
    (∀ config, validateResourceCapacity config
        ((nodes.filter fun n => n.status == .ready).map FsmNode.resources) = .ok () →
      ∀ r, config.Needs r →
        (∃ n ∈ nodes, n.status = .ready ∧ r.cpu ≤ n.resources.cpuTotal ∧
          r.memory ≤ n.resources.memoryTotal) ∧
        ∀ request, request.need = r →
          ∃ m, schedule request nodes [] [] s.emptied.nodeAvailableResources = some m) ↔
    ((∃ n ∈ nodes, n.status = .ready) → ∃ n ∈ nodes, n.status = .ready ∧
      0 ≤ n.resources.cpuTotal ∧
      ∀ m ∈ nodes, m.status = .ready → m.resources.cpuTotal ≤ n.resources.cpuTotal ∧
        m.resources.memoryTotal ≤ n.resources.memoryTotal) := by
  have hmem (a b c : ByteSize) : max a b ≤ c ↔ a ≤ c ∧ b ≤ c := by
    simp only [max]
    grind
  -- the greatest cpu and the greatest memory of the Ready nodes
  have hmax (n : FsmNode) :
      ((((nodes.filter fun n => n.status == .ready).map FsmNode.resources).map
          NodeResources.cpuTotal).foldl max 0 ≤ n.resources.cpuTotal ∧
        (((nodes.filter fun n => n.status == .ready).map FsmNode.resources).map
          NodeResources.memoryTotal).foldl max 0 ≤ n.resources.memoryTotal) ↔
      0 ≤ n.resources.cpuTotal ∧ ∀ m ∈ nodes, m.status = .ready →
        m.resources.cpuTotal ≤ n.resources.cpuTotal ∧
          m.resources.memoryTotal ≤ n.resources.memoryTotal := by
    rw [foldl_max_le fun _ _ _ => max_le_iff, foldl_max_le hmem]
    simp only [List.mem_map, List.mem_filter, beq_iff_eq, UInt64.zero_le, true_and]
    grind
  constructor
  · rintro h ⟨m, hm, hready⟩
    have hne : (nodes.filter fun n => n.status == .ready).map FsmNode.resources ≠ [] :=
      List.ne_nil_of_mem (List.mem_map_of_mem (List.mem_filter.mpr ⟨hm, beq_iff_eq.mpr hready⟩))
    obtain ⟨⟨n, hn, hstatus, hfits⟩, -⟩ :=
      h _ (validateResourceCapacity_largest hne) _ (.inl ⟨"web", _, lookup_singleton_eq, rfl⟩)
    exact ⟨n, hn, hstatus, (hmax n).mp hfits⟩
  · intro hlargest config h r hr
    obtain ⟨hcpu, hmemory⟩ := le_max_of_validateResourceCapacity h hr
    have hsome : ∃ n ∈ nodes, n.status = .ready := by
      by_contra hnone
      have hnil : (nodes.filter fun n => n.status == .ready) = [] :=
        List.filter_eq_nil_iff.mpr fun n hn hready => hnone ⟨n, hn, beq_iff_eq.mp hready⟩
      rw [hnil] at h
      cases h
    obtain ⟨n, hn, hready, hmost⟩ := hlargest hsome
    obtain ⟨hcpu', hmemory'⟩ := (hmax n).mpr hmost
    have hfits := And.intro (hcpu.trans hcpu') (UInt64.le_trans hmemory hmemory')
    refine ⟨⟨n, hn, hready, hfits⟩, fun request hneed => ?_⟩
    have hvalue : n ∈ s.nodes.values := hnodes ▸ hn
    obtain ⟨id, hid⟩ := Finmap.mem_values.mp hvalue
    have hlookup : s.nodes.lookup n.raftId = some n := (hkeyed id n hid).symm ▸ hid
    have hpin : request.attachedTo [] = none := by
      unfold ScheduleRequest.attachedTo
      cases request.volume <;> rfl
    apply exists_schedule_of_room hpin hn hready
    rw [hneed]
    exact hasCapacity_emptied hlookup hfits.1 hfits.2

def sizedNode (raftId : Nat) (millId : String) (resources : NodeResources) : FsmNode :=
  ⟨raftId, ⟨millId⟩, ⟨.v4 0, 0⟩, resources, .ready, none, none, none, none⟩

def sizedConfig : ClusterConfig :=
  ⟨Finmap.singleton "web" ⟨"app:1", 80, 1, ⟨4, 4⟩, ∅, none, none, [], []⟩, ∅⟩

theorem capacity_check_suffices_one : ∃ m, schedule ⟨⟨4, 4⟩, "web", .service, none⟩
    [sizedNode 1 "n" ⟨8, 8, 8, 8⟩] [] []
    (FsmState.emptied { (default : FsmState) with
      nodes := Finmap.singleton 1 (sizedNode 1 "n" ⟨8, 8, 8, 8⟩) }).nodeAvailableResources =
      some m := by
  refine ((capacity_check_suffices _ (fun id n h => ?_) [sizedNode 1 "n" ⟨8, 8, 8, 8⟩] rfl).mpr
    (fun _ => ⟨_, List.mem_singleton_self _, rfl, by decide +kernel, fun m hm _ => ?_⟩) sizedConfig
    (by decide +kernel) ⟨4, 4⟩ (.inl ⟨"web", _, rfl, rfl⟩)).2 _ rfl
  · obtain ⟨rfl, rfl⟩ := Finmap.of_lookup_singleton h
    rfl
  · cases List.mem_singleton.mp hm
    exact ⟨Rat.le_refl, UInt64.le_refl _⟩

/-- One node has the cpu and another one the memory: the check passes, and no node will do. -/
theorem split_capacity_accepted :
    let nodes := [sizedNode 1 "n" ⟨8, 8, 1, 1⟩, sizedNode 2 "m" ⟨1, 1, 8, 8⟩]
    let s : FsmState := { (default : FsmState) with
      nodes := (Finmap.singleton 1 (sizedNode 1 "n" ⟨8, 8, 1, 1⟩)).insert 2
        (sizedNode 2 "m" ⟨1, 1, 8, 8⟩) }
    s.nodes.values = nodes ∧ validateResourceCapacity sizedConfig
      ((nodes.filter fun n => n.status == .ready).map FsmNode.resources) = .ok () ∧
      sizedConfig.Needs ⟨4, 4⟩ ∧
      (∀ n ∈ nodes, ¬ (4 ≤ n.resources.cpuTotal ∧ 4 ≤ n.resources.memoryTotal)) ∧
      schedule ⟨⟨4, 4⟩, "web", .service, none⟩ nodes [] [] s.emptied.nodeAvailableResources =
        none := by
  intro nodes s
  exact ⟨by decide +kernel, by decide +kernel, .inl ⟨"web", _, rfl, rfl⟩, by decide +kernel,
    by decide +kernel⟩

end

variable {old : Option ClusterConfig} {new : ClusterConfig}
  {newOrder oldOrder : List (Σ _ : String, ServiceDef)} {name : String}

lemma mem_unchanged (h : new.services.entries = newOrder) :
    name ∈ (diffConfig old new newOrder oldOrder).unchanged ↔
      ∃ d, serviceDef (some new) name = some d ∧ serviceDef old name = some d := by
  simp only [diffConfig, List.mem_map, List.mem_filter, Option.any_eq_true, decide_eq_true_eq]
  constructor
  · rintro ⟨⟨n, d⟩, ⟨hmem, d', hold, rfl⟩, rfl⟩
    exact ⟨d', (mem_order h).mp hmem, hold⟩
  · rintro ⟨d, hmem, hold⟩
    exact ⟨⟨name, d⟩, ⟨(mem_order h).mpr hmem, d, hold, rfl⟩, rfl⟩

lemma lookup_foldl_erase (names : List String) (m : Finmap fun _ : String => ServiceDef)
    (name : String) : (names.foldl (fun m n => m.erase n) m).lookup name =
      if name ∈ names then none else m.lookup name := by
  induction names generalizing m with
  | nil => rfl
  | cons n names ih =>
    rw [List.foldl_cons, ih, Finmap.lookup_erase_eq]
    by_cases hn : name = n
    · simp [hn]
    · simp [hn]

/-- The names of the plan are those of the new services, each once, and carrying the plan out on
the old services gives the new ones. -/
theorem plan_is_exact_diff (old : Option ClusterConfig) (new : ClusterConfig)
    (newOrder oldOrder : List (Σ _ : String, ServiceDef)) (hnew : new.services.entries = newOrder)
    (hold : ((old.map ClusterConfig.services).getD ∅).entries = oldOrder) :
    let plan := diffConfig old new newOrder oldOrder
    let services := (old.map ClusterConfig.services).getD ∅
    let names := (plan.added ++ plan.changed).map Prod.fst ++ plan.unchanged
    names.Nodup ∧ (∀ name, name ∈ names ↔ name ∈ new.services) ∧
      (∀ name, name ∈ plan.added.map Prod.fst ↔ name ∈ new.services ∧ name ∉ services) ∧
      (∀ name, name ∈ plan.removed ↔ name ∈ services ∧ name ∉ new.services) ∧
      (∀ name, name ∈ plan.changed.map Prod.fst ↔ ∃ d d', services.lookup name = some d ∧
        new.services.lookup name = some d' ∧ d ≠ d') ∧
      (plan.added ++ plan.changed).foldl (fun m e => m.insert e.1 e.2)
        (plan.removed.foldl (fun m name => m.erase name) services) = new.services := by
  intro plan services names
  have hservices (name : String) : services.lookup name = serviceDef old name := by
    cases old <;> rfl
  have hdefs (name : String) : new.services.lookup name = serviceDef (some new) name := rfl
  have hnone (m : Finmap fun _ : String => ServiceDef) (name : String) :
      name ∉ m ↔ m.lookup name = none := lookup_eq_none.symm
  have hsome (m : Finmap fun _ : String => ServiceDef) (name : String) :
      name ∈ m ↔ ∃ d, m.lookup name = some d := by
    rw [← lookup_isSome, Option.isSome_iff_exists]
  have hrolled (name : String) : name ∈ (plan.added ++ plan.changed).map Prod.fst ↔
      ∃ d, serviceDef (some new) name = some d ∧ serviceDef old name ≠ some d := by
    simp only [List.mem_map, List.mem_append, Prod.exists, exists_and_right, exists_eq_right,
      plan, mem_added hnew, mem_changed hnew]
    grind
  have hunchanged (name : String) : name ∈ plan.unchanged ↔
      ∃ d, serviceDef (some new) name = some d ∧ serviceDef old name = some d := mem_unchanged hnew
  refine ⟨?_, fun name => ?_, fun name => ?_, fun name => ?_, fun name => ?_, ?_⟩
  · refine (nodup_plan hnew).append ?_ fun name h h' => ?_
    · exact (List.filter_sublist.map Sigma.fst).nodup (Finmap.nodupKeys_of_entries hnew)
    · obtain ⟨d, hd, hne⟩ := (hrolled name).mp h
      obtain ⟨d', hd', hsame⟩ := (hunchanged name).mp h'
      exact hne (hsame.trans (hd'.symm.trans hd))
  · rw [List.mem_append, hrolled, hunchanged, hsome, hdefs]
    grind
  · rw [hnone, hservices, hsome, hdefs]
    simp only [List.mem_map, Prod.exists, exists_and_right, exists_eq_right, plan, mem_added hnew]
  · rw [mem_removed hold, hnone, hsome, hservices, hdefs, Option.ne_none_iff_exists']
  · simp only [List.mem_map, Prod.exists, exists_and_right, exists_eq_right, plan,
      mem_changed hnew, hservices, hdefs]
    grind
  · apply ext_lookup
    intro name
    by_cases h : name ∈ (plan.added ++ plan.changed).map Prod.fst
    · obtain ⟨⟨n, d⟩, hin, rfl, hlookup⟩ : ∃ e ∈ plan.added ++ plan.changed, e.1 = name ∧
          ((plan.added ++ plan.changed).foldl (fun m e => m.insert e.1 e.2)
            (plan.removed.foldl (fun m name => m.erase name) services)).lookup name = some e.2 :=
        Finmap.exists_lookup_foldl_insert h _
      rw [hlookup, hdefs]
      rcases List.mem_append.mp hin with hin | hin
      · exact ((mem_added hnew).mp hin).1.symm
      · exact ((mem_changed hnew).mp hin).1.symm
    · rw [Finmap.lookup_foldl_insert_of_notMem h, lookup_foldl_erase, hservices]
      rw [hrolled] at h
      split_ifs with hremoved
      · exact ((mem_removed hold).mp hremoved).2.symm
      · rw [mem_removed hold] at hremoved
        grind

theorem plan_is_exact_diff_mixed :
    let service (image : String) : ServiceDef := ⟨image, 80, 1, ⟨4, 4⟩, ∅, none, none, [], []⟩
    let oldOrder := [⟨"api", service "api:1"⟩, ⟨"cron", service "cron:1"⟩, ⟨"web", service "web:1"⟩]
    let newOrder := [⟨"api", service "api:2"⟩, ⟨"db", service "db:1"⟩, ⟨"web", service "web:1"⟩]
    let plan := diffConfig (some ⟨oldOrder.toFinmap, ∅⟩) ⟨newOrder.toFinmap, ∅⟩ newOrder oldOrder
    (plan.unchanged = ["web"] ∧ plan.removed = ["cron"] ∧
      (plan.added ++ plan.changed).map Prod.fst = ["db", "api"]) ∧
    (plan.added ++ plan.changed).foldl (fun m e => m.insert e.1 e.2)
      (plan.removed.foldl (fun m name => m.erase name) oldOrder.toFinmap) = newOrder.toFinmap := by
  intro service oldOrder newOrder plan
  exact ⟨by decide +kernel, (plan_is_exact_diff (some ⟨oldOrder.toFinmap, ∅⟩)
    ⟨newOrder.toFinmap, ∅⟩ newOrder oldOrder rfl rfl).2.2.2.2.2⟩

end Mill
