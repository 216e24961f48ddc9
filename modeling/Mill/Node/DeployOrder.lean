import Mill.Lib.Turns
import Mill.Node.DeployTurns
import Mill.Node.Redeploy

/-! Two deploys of the same config that visit its services in different orders. -/

namespace Mill

open Mill.Action List Program Transition Turns

def ClusterConfig.Refers (config : ClusterConfig) (name service : String) : Prop :=
  ∃ d, config.services.lookup name = some d ∧ Sheet.EnvRefers d.env service

namespace Sheet

section

variable {ctx : DeployCtx} {s₀ : FsmState} {old : Option ClusterConfig} {config : ClusterConfig}
  {name : String} {book book' : AllocId → Option AllocEntry}

def ConfigTurn (ctx : DeployCtx) (s₀ : FsmState) (old : Option ClusterConfig)
    (config : ClusterConfig) (name : String) (book : AllocId → Option AllocEntry) (o : Bool)
    (book' : AllocId → Option AllocEntry) : Prop :=
  ∃ d, config.services.lookup name = some d ∧
    ServiceTurn ctx s₀ (serviceDef old name).isNone name d book o book'

def part (name : String) (book : AllocId → Option AllocEntry) (id : AllocId) : Option AllocEntry :=
  (book id).filter fun e => e.name = name

def PartAddressed (entries : AllocId → Option AllocEntry) : Prop :=
  ∃ id e, entries id = some e ∧ e.addressed = true

lemma part_eq_some {id : AllocId} {e : AllocEntry} :
    part name book id = some e ↔ book id = some e ∧ e.name = name := by
  rw [part, Option.filter_eq_some_iff, decide_eq_true_eq]

lemma partAddressed_iff : PartAddressed (part name book) ↔ Addressed book name := by
  simp only [PartAddressed, Addressed, part_eq_some, and_assoc]

lemma AgreeBut.part_eq (h : AgreeBut name book book') {service : String} (hne : service ≠ name) :
    part service book' = part service book := by
  funext id
  apply Option.ext
  intro e
  rw [part_eq_some, part_eq_some]
  constructor
  · rintro ⟨he, rfl⟩
    exact ⟨(h id e hne).mp he, rfl⟩
  · rintro ⟨he, rfl⟩
    exact ⟨(h id e hne).mpr he, rfl⟩

lemma left_iff {added o : Bool} {d : ServiceDef} : Left s₀ added name d book o ↔
    (o = true ∧ 0 < d.replicas) ∨ ∃ id e, part name book id = some e ∧ e.addressed = true ∧
      ¬ (added = true ∧ o = false ∧ AnyReady s₀ ∧ id = ⟨s!"{name}-{0}"⟩) := by
  simp only [Left, part_eq_some, and_assoc]

lemma local_configTurn (ctx : DeployCtx) (s₀ : FsmState) (old : Option ClusterConfig)
    (config : ClusterConfig) :
    Local (ConfigTurn ctx s₀ old config) config.Refers part PartAddressed where
  frame := by
    rintro name book o book' ⟨d, _, hturn⟩ service hne
    exact hturn.frame.part_eq hne
  outcome := by
    rintro name book₁ o₁ _ book₂ o₂ _ ⟨d, hd, hturn₁⟩ ⟨d', hd', hturn₂⟩ hown hseen
    cases hd.symm.trans hd'
    have henv : EnvResolvable ctx s₀ book₁ d.env ↔ EnvResolvable ctx s₀ book₂ d.env := by
      apply envResolvable_congr
      intro service hrefers
      rw [← partAddressed_iff, ← partAddressed_iff]
      by_cases hself : service = name
      · rw [hself, hown]
      · rw [hseen service ⟨d, hd, hrefers⟩ hself]
    rw [Bool.eq_iff_iff, hturn₁.outcome, hturn₂.outcome, henv]
  after := by
    rintro name book₁ o _ book₂ _ ⟨d, hd, hturn₁⟩ ⟨d', hd', hturn₂⟩ hown
    cases hd.symm.trans hd'
    apply propext
    rw [partAddressed_iff, partAddressed_iff, hturn₁.own, hturn₂.own, left_iff, left_iff, hown]

end

variable {ctx : DeployCtx} {s₀ : FsmState} {φ : Sheet} {config : ClusterConfig}

lemma max_right_comm_byteSize (a b c : ByteSize) : max (max a b) c = max (max a c) b := by
  simp only [max]
  grind

lemma validateResourceCapacity_perm {nodes nodes' : List NodeResources} (h : nodes.Perm nodes') :
    validateResourceCapacity config nodes = validateResourceCapacity config nodes' := by
  have hcpu : (nodes.map NodeResources.cpuTotal).foldl max 0 =
      (nodes'.map NodeResources.cpuTotal).foldl max 0 :=
    (h.map _).foldl_eq' (fun x _ y _ z => max_right_comm z x y) 0
  have hmemory : (nodes.map NodeResources.memoryTotal).foldl max 0 =
      (nodes'.map NodeResources.memoryTotal).foldl max 0 :=
    (h.map _).foldl_eq' (fun x _ y _ z => max_right_comm_byteSize z x y) 0
  have hempty : nodes.isEmpty = nodes'.isEmpty := by
    rw [Bool.eq_iff_iff, List.isEmpty_iff, List.isEmpty_iff]
    constructor
    · rintro rfl
      exact h.nil_eq.symm
    · rintro rfl
      exact h.eq_nil
  simp only [validateResourceCapacity, hcpu, hmemory, hempty]

def Admitted (s₀ : FsmState) (config : ClusterConfig) : Prop :=
  validateSecretRefs config s₀.secrets.keys = .ok () ∧
    ∀ nodes : List FsmNode, s₀.nodes.values = nodes → validateResourceCapacity config
        ((nodes.filter fun n => n.status == .ready).map FsmNode.resources) = .ok ()

lemma wp_preDeploy (config : ClusterConfig) : (preDeploy config).wp (spec s₀) (fun o φ' =>
    match o with
    | .ok a => φ' = φ ∧ Admitted s₀ config ∧ ∃ newOrder oldOrder,
        a = (φ.config, diffConfig φ.config config newOrder oldOrder) ∧
          config.services.entries = newOrder
    | .error _ => ¬ Admitted s₀ config) φ := by
  refine wp_bind (wp_fine trivial fun old hold => ?_)
  have hconfig : old = φ.config := hold
  subst hconfig
  refine wp_bind (wp_fine trivial fun newOrder hnew => ?_)
  refine wp_bind (wp_fine trivial fun oldOrder _ => ?_)
  refine wp_bind (wp_fine trivial fun known hknown => ?_)
  have hkeys : known = s₀.secrets.keys := hknown
  subst hkeys
  refine wp_bind ?_
  cases hsecrets : validateSecretRefs config s₀.secrets.keys with
  | error =>
    rintro ⟨hok, _⟩
    cases hsecrets.symm.trans hok
  | ok u =>
    refine wp_bind (wp_fine trivial fun capacities hcapacities => ?_)
    obtain ⟨nodes, hnodes, rfl⟩ := hcapacities
    refine wp_bind ?_
    cases hcapacity : validateResourceCapacity config
        ((nodes.filter fun n => n.status == .ready).map FsmNode.resources) with
    | error =>
      rintro ⟨_, hok⟩
      cases hcapacity.symm.trans (hok nodes hnodes)
    | ok =>
      have hadmitted : Admitted s₀ config := by
        refine ⟨hsecrets, fun nodes' hnodes' => ?_⟩
        have hperm : nodes'.Perm nodes := Multiset.coe_eq_coe.mp (hnodes'.symm.trans hnodes)
        exact (validateResourceCapacity_perm ((hperm.filter _).map _)).trans hcapacity
      refine wp_bind_returns (wp_foldEach_returns (fun _ _ φ' => φ' = φ) ?_ rfl) ?_
      · rintro image rest acc φ' rfl
        exact wp_bind (wp_fine trivial fun _ _ => rfl)
      · rintro _ φ' rfl
        exact ⟨rfl, hadmitted, newOrder, oldOrder, rfl, hnew⟩

/-- What a deploy that ends with this outcome has done: a sequence of turns, one for each service
that is added or has changed. -/
def Accounted (ctx : DeployCtx) (s₀ : FsmState) (config : ClusterConfig) (φ : Sheet) :
    Except DeployError (DeployPlan × List (String × Bool)) → Prop
  | .ok (plan, report) => Admitted s₀ config ∧ ∃ newOrder oldOrder book',
      plan = diffConfig φ.config config newOrder oldOrder ∧
      config.services.entries = newOrder ∧
      Rounds (ConfigTurn ctx s₀ φ.config config) φ.book report book' ∧
      report.map Prod.fst = (plan.added ++ plan.changed).map Prod.fst
  | .error _ => ¬ Admitted s₀ config

lemma wp_stopService (name : String) :
    (stopService name).wp (spec s₀) (Returns fun _ φ' => φ' = φ) φ := by
  refine wp_bind (wp_fine trivial fun allocs _ => ?_)
  apply wp_foldEach_returns (fun _ _ φ' => φ' = φ) ?_ rfl
  rintro a rest acc φ' rfl
  exact wp_send_fine rfl

lemma wp_rollouts {old : Option ClusterConfig} {added : Bool}
    {deployOne : String → ServiceDef → Action Unit} {book : AllocId → Option AllocEntry}
    (hone : ∀ name d φ, ¬ EnvRefers d.env name → (deployOne name d).wp (spec s₀)
      (fun o φ' => ServiceTurn ctx s₀ added name d φ.book o.isOk φ'.book) φ)
    (hown : ∀ name, ¬ config.Refers name name) {items : List (String × ServiceDef)}
    (hitems : ∀ e ∈ items, config.services.lookup e.1 = some e.2 ∧
      (serviceDef old e.1).isNone = added) {report : List (String × Bool)}
    (hrounds : Rounds (ConfigTurn ctx s₀ old config) book report φ.book) :
    (foldEach (rolloutReport deployOne) items report).wp (spec s₀) (Returns fun report' φ' =>
      Rounds (ConfigTurn ctx s₀ old config) book report' φ'.book ∧
        report'.map Prod.fst = report.map Prod.fst ++ items.map Prod.fst) φ := by
  let Inv (rest : List (String × ServiceDef)) (report' : List (String × Bool)) (φ' : Sheet) :
      Prop := Rounds (ConfigTurn ctx s₀ old config) book report' φ'.book ∧ rest ⊆ items ∧
    report'.map Prod.fst ++ rest.map Prod.fst = report.map Prod.fst ++ items.map Prod.fst
  have hloop : (foldEach (rolloutReport deployOne) items report).wp (spec s₀)
      (Returns (Inv [])) φ := by
    apply wp_foldEach_returns Inv ?_ ⟨hrounds, List.Subset.refl items, rfl⟩
    rintro ⟨name, d⟩ rest report' φ' ⟨hrounds', hsub, hnames⟩
    obtain ⟨hd, hadded⟩ := hitems (name, d) (hsub mem_cons_self)
    have hself : ¬ EnvRefers d.env name := fun h => hown name ⟨d, hd, h⟩
    refine wp_bind (wp_attempt (wp_mono (hone name d φ' hself) fun o φ'' hturn => ?_))
    have hround : Rounds (ConfigTurn ctx s₀ old config) book (report' ++ [(name, o.isOk)])
        φ''.book := by
      apply rounds_append.mpr
      exact ⟨φ'.book, hrounds', .cons ⟨d, hd, hadded ▸ hturn⟩ (.nil _)⟩
    have hnext : Inv rest (report' ++ [(name, o.isOk)]) φ'' := by
      refine ⟨hround, fun e he => hsub (mem_cons_of_mem _ he), ?_⟩
      rw [← hnames, map_append, append_assoc]
      rfl
    cases o with
    | ok => exact hnext
    | error => exact hnext
  refine wp_mono hloop ?_
  rintro (x | report') φ' h
  · exact h
  · exact ⟨h.1, by rw [← h.2.2, map_nil, append_nil]⟩

lemma wp_deployReport (hown : ∀ name, ¬ config.Refers name name) :
    (deployReport ctx config).wp (spec s₀) (fun o _ => Accounted ctx s₀ config φ o) φ := by
  refine wp_bind (wp_mono (wp_preDeploy config) ?_)
  rintro (x | ⟨old, plan⟩) φ' h
  · exact h
  obtain ⟨rfl, hadmitted, newOrder, oldOrder, heq, hnew⟩ := h
  obtain ⟨rfl, hplan⟩ := Prod.mk.inj heq
  refine wp_bind (wp_propose_fine trivial fun _ _ => ?_)
  refine wp_bind (wp_bind_returns (wp_foldEach_returns
    (fun _ _ φ'' => φ''.book = φ'.book) ?_ rfl) ?_)
  · rintro name rest acc φ'' hbook
    refine wp_mono (wp_stopService name) ?_
    rintro (x | u) φ₁ hsame
    · exact hsame
    · exact (congrArg Sheet.book hsame).trans hbook
  rintro _ φ₁ hbook
  have hadded : ∀ e ∈ plan.added, config.services.lookup e.1 = some e.2 ∧
      (serviceDef φ'.config e.1).isNone = true := by
    rintro ⟨name, d⟩ he
    rw [hplan] at he
    obtain ⟨hd, hnone⟩ := (mem_added hnew).mp he
    exact ⟨hd, Option.isNone_iff_eq_none.mpr hnone⟩
  have hchanged : ∀ e ∈ plan.changed, config.services.lookup e.1 = some e.2 ∧
      (serviceDef φ'.config e.1).isNone = false := by
    rintro ⟨name, d⟩ he
    rw [hplan] at he
    obtain ⟨hd, d', hsome, _⟩ := (mem_changed hnew).mp he
    exact ⟨hd, by rw [hsome]; rfl⟩
  have hstart : Rounds (ConfigTurn ctx s₀ φ'.config config) φ'.book [] φ₁.book := by
    rw [hbook]
    exact .nil _
  refine wp_bind_returns (wp_rollouts (fun _ _ _ => wp_deployService) hown hadded hstart) ?_
  rintro report φ₂ ⟨hrounds, hnames⟩
  refine wp_mono (wp_rollouts (fun _ _ _ => wp_rollingUpdate) hown hchanged hrounds) ?_
  rintro (x | report') φ₃ hlast
  · exact hlast.elim
  obtain ⟨hrounds', hnames'⟩ := hlast
  have hdone : Accounted ctx s₀ config φ' (.ok (plan, report')) := by
    refine ⟨hadmitted, newOrder, oldOrder, φ₃.book, hplan, hnew, hrounds', ?_⟩
    rw [hnames', hnames, map_append]
    rfl
  dsimp only
  split
  · exact wp_bind (wp_fine trivial fun _ _ => hdone)
  · exact hdone

end Sheet

open Sheet

section

def ClusterConfig.Acyclic (config : ClusterConfig) : Prop :=
  ∀ name, ¬ Relation.TransGen config.Refers name name

def ClusterConfig.SameSide (config : ClusterConfig) (names₁ names₂ : List String) : Prop :=
  ∀ name service, config.Refers name service →
    ([service, name].Sublist names₁ ↔ [service, name].Sublist names₂)

def planned : Except DeployError (DeployPlan × List (String × Bool)) → List String
  | .ok (plan, _) => (plan.added ++ plan.changed).map Prod.fst
  | .error _ => []

def succeeded : Except DeployError (DeployPlan × List (String × Bool)) → List String
  | .ok (_, report) => (report.filter Prod.snd).map Prod.fst
  | .error _ => []

def DeploysTo (ctx : DeployCtx) (config : ClusterConfig) (w : World)
    (o : Except DeployError (DeployPlan × List (String × Bool))) : Prop :=
  ∃ es w' p, Guarded stepDeploy Smooth (w, deployReport ctx config) es ∧
    run stepDeploy (w, deployReport ctx config) es = some (w', p) ∧ p.outcome = some o

variable {ctx : DeployCtx} {config : ClusterConfig} {w : World}
  {o o₁ o₂ : Except DeployError (DeployPlan × List (String × Bool))} {name : String}

lemma mem_plan_iff {old : Option ClusterConfig}
    {newOrder oldOrder : List (Σ _ : String, ServiceDef)} (h : config.services.entries = newOrder) :
    name ∈ ((diffConfig old config newOrder oldOrder).added ++
      (diffConfig old config newOrder oldOrder).changed).map Prod.fst ↔
    ∃ d, serviceDef (some config) name = some d ∧
      (serviceDef old name = none ∨ ∃ d', serviceDef old name = some d' ∧ d' ≠ d) := by
  simp only [mem_map, mem_append, Prod.exists, exists_and_right, exists_eq_right,
    mem_added h, mem_changed h, and_or_left]

def World.sheet (w : World) : Sheet :=
  ⟨w.fsm.config, fun id => (w.fsm.allocs.lookup id).map AllocEntry.of⟩

lemma DeploysTo.accounted (h : DeploysTo ctx config w o) (hkeyed : w.fsm.NodesKeyed)
    (hown : ∀ name, ¬ config.Refers name name) : Accounted ctx w.fsm config w.sheet o := by
  obtain ⟨es, w', p, hsmooth, hrun, hend⟩ := h
  have htallies : w.sheet.Tallies w.fsm w := ⟨rfl, rfl, rfl, fun _ => rfl⟩
  obtain ⟨φ', _, hleft⟩ := wp_of_run hkeyed (wp_deployReport hown) htallies hsmooth hrun
  exact of_wp_outcome hleft hend

lemma succeeded_of_sameSide {s₀ : FsmState} {φ : Sheet} (h₁ : Accounted ctx s₀ config φ o₁)
    (h₂ : Accounted ctx s₀ config φ o₂) (hside : config.SameSide (planned o₁) (planned o₂))
    (h : name ∈ succeeded o₁) : name ∈ succeeded o₂ := by
  cases o₁ with
  | error => cases h
  | ok a₁ =>
  obtain ⟨plan₁, report₁⟩ := a₁
  cases o₂ with
  | error => exact absurd h₁.1 h₂
  | ok a₂ =>
  obtain ⟨plan₂, report₂⟩ := a₂
  obtain ⟨_, newOrder₁, oldOrder₁, book₁, rfl, hnew₁, hrounds₁, hnames₁⟩ := h₁
  obtain ⟨_, newOrder₂, oldOrder₂, book₂, rfl, hnew₂, hrounds₂, hnames₂⟩ := h₂
  have hnodup₁ : (report₁.map Prod.fst).Nodup := by
    rw [hnames₁]
    exact nodup_plan hnew₁
  have hnodup₂ : (report₂.map Prod.fst).Nodup := by
    rw [hnames₂]
    exact nodup_plan hnew₂
  obtain ⟨⟨name, ok⟩, hmem, rfl⟩ := mem_map.mp h
  obtain ⟨hin₁, hok⟩ := mem_filter.mp hmem
  have hplanned : name ∈ report₁.map Prod.fst := mem_map_of_mem hin₁
  rw [hnames₁, mem_plan_iff hnew₁, ← mem_plan_iff hnew₂, ← hnames₂] at hplanned
  obtain ⟨⟨name, ok'⟩, hin₂, rfl⟩ := mem_map.mp hplanned
  have hside' : ∀ i j, config.Refers i j →
      ([j, i].Sublist (report₁.map Prod.fst) ↔ [j, i].Sublist (report₂.map Prod.fst)) := by
    rw [hnames₁, hnames₂]
    exact hside
  have hsame : ok = ok' := (local_configTurn ctx s₀ φ.config config).outcome_eq hrounds₁
    hrounds₂ hnodup₁ hnodup₂ hside' hin₁ hin₂
  subst hsame
  exact mem_map.mpr ⟨(name, ok), mem_filter.mpr ⟨hin₂, hok⟩, rfl⟩

/-- Two deploys of one config on the same cluster, with containers that always start, succeed for
the same services, if both orders put every service on the same side of those it refers to. -/
theorem deploy_succeeds_for_same_services (ctx : DeployCtx) (config : ClusterConfig)
    (hacyclic : config.Acyclic) (cmds : List Command) (w : World)
    (hw : w.fsm = applyAll default cmds)
    (o₁ o₂ : Except DeployError (DeployPlan × List (String × Bool)))
    (h₁ : DeploysTo ctx config w o₁) (h₂ : DeploysTo ctx config w o₂)
    (hside : config.SameSide (planned o₁) (planned o₂)) (name : String) :
    name ∈ succeeded o₁ ↔ name ∈ succeeded o₂ := by
  have hkeyed : w.fsm.NodesKeyed := hw ▸ nodesKeyed_applyAll cmds
  have hown : ∀ name, ¬ config.Refers name name := fun name h => hacyclic name (.single h)
  have haccounted₁ := h₁.accounted hkeyed hown
  have haccounted₂ := h₂.accounted hkeyed hown
  constructor
  · exact succeeded_of_sameSide haccounted₁ haccounted₂ hside
  · apply succeeded_of_sameSide haccounted₂ haccounted₁
    intro name service hrefers
    exact (hside name service hrefers).symm

end

def plainRaw : RawServiceDef where
  image := "app:1"
  port := 80
  replicas := 1
  cpu := 1
  memory := "64M"
  env := ∅
  health := none
  route := ∅
  volume := ∅
  command := none

def linkedRaw : RawConfig :=
  ⟨((Finmap.singleton "db" plainRaw).insert "log" plainRaw).insert "web"
    { plainRaw with env := Finmap.singleton "DB" "$\x7bservice.db.address\x7d" }, ∅⟩

def linkedOrders : Orders where
  service := ["db", "web", "log"]
  task := []
  env path := if path = "service.web" then ["DB"] else []
  route _ := []
  volume _ := []
  refService := ["db", "web", "log"]
  refTask := []
  refEnv path := if path = "service.web" then ["DB"] else []

def plainDef : ServiceDef := ⟨"app:1", 80, 1, ⟨1, 64⟩, ∅, none, none, [], []⟩

def linkedEnv : Finmap fun _ : String => EnvValue :=
  Finmap.singleton "DB" (.interpolated [.serviceAddress "db"])

def linkedDef : ServiceDef := { plainDef with env := linkedEnv }

def linkedConfig : ClusterConfig :=
  ⟨((Finmap.singleton "db" plainDef).insert "web" linkedDef).insert "log" plainDef, ∅⟩

def linkedCmds : List Command := [.demoRegister 1 "n"]

def linkedWorld : World := ⟨applyAll default linkedCmds, [], [], 0⟩

def linkedAddr : SocketAddr := ⟨.v4 1, 80⟩

def linkedAlloc (name : String) (status : AllocStatus) (address : Option SocketAddr) : Alloc :=
  ⟨⟨s!"{name}-0"⟩, ⟨"n"⟩, name, .service, status, address, ⟨1, 64⟩, none⟩

def linkedUp (name : String) : Alloc := linkedAlloc name .healthy (some linkedAddr)

def looks (allocs : List Alloc) : Surrounding :=
  .choice (.order [PlacementSystem.demoNode] allocs [])

def proceeds : Surrounding := .choice .proceed

def linkedCommit (order : List (Σ _ : String, ServiceDef)) : List Surrounding :=
  [looks [], .choice (.services order), .choice (.services []), looks [], looks [], proceeds,
    proceeds]

def linkedStart (before : List Alloc) (env : List (Σ _ : String, EnvValue)) : List Surrounding :=
  [looks before, looks before, looks before, proceeds, .choice (.env env)]

def linkedEnd : List Surrounding :=
  [proceeds, .started linkedAddr none, proceeds, proceeds, proceeds]

def plainTurn (before : List Alloc) : List Surrounding := linkedStart before [] ++ linkedEnd

def linkedTurn (before : List Alloc) : List Surrounding :=
  linkedStart before [⟨"DB", .interpolated [.serviceAddress "db"]⟩] ++
    [looks (linkedAlloc "web" .pulling none :: before)]

def dbWebLog : List Surrounding :=
  linkedCommit [⟨"db", plainDef⟩, ⟨"web", linkedDef⟩, ⟨"log", plainDef⟩] ++ plainTurn [] ++
    linkedTurn [linkedUp "db"] ++ linkedEnd ++ plainTurn [linkedUp "db", linkedUp "web"]

def logDbWeb : List Surrounding :=
  linkedCommit [⟨"log", plainDef⟩, ⟨"db", plainDef⟩, ⟨"web", linkedDef⟩] ++ plainTurn [] ++
    plainTurn [linkedUp "log"] ++ linkedTurn [linkedUp "db", linkedUp "log"] ++ linkedEnd

def linkedDown : Alloc :=
  linkedAlloc "web" (.failed "failed to resolve env var: no address for service 'db'") none

def webDbLog : List Surrounding :=
  linkedCommit [⟨"web", linkedDef⟩, ⟨"db", plainDef⟩, ⟨"log", plainDef⟩] ++ linkedTurn [] ++
    [proceeds] ++ plainTurn [linkedDown] ++ plainTurn [linkedUp "db", linkedDown]

lemma linkedOrders_of : linkedOrders.Of linkedRaw := by
  have hempty {V : Type} : Finmap.Enumerates [] (∅ : Finmap fun _ : String => V) :=
    ⟨nodup_nil, fun k => iff_of_false not_mem_nil Finmap.notMem_empty⟩
  have hservice : Finmap.Enumerates ["db", "web", "log"] linkedRaw.service := by
    refine ⟨by decide, fun k => ?_⟩
    simp only [linkedRaw, Finmap.mem_insert, Finmap.mem_singleton, mem_cons, not_mem_nil, or_false]
    grind
  have hcases {name : String} {d : RawServiceDef} (hd : linkedRaw.service.lookup name = some d) :
      d.route = ∅ ∧ d.volume = ∅ ∧
        Finmap.Enumerates (linkedOrders.env s!"service.{name}") d.env := by
    rcases Finmap.lookup_insert_eq_some.mp hd with ⟨rfl, rfl⟩ | ⟨_, hd⟩
    · refine ⟨rfl, rfl, by decide, fun k => ?_⟩
      exact mem_singleton.trans (Finmap.mem_singleton _ _ _).symm
    · rcases Finmap.lookup_insert_eq_some.mp hd with ⟨rfl, rfl⟩ | ⟨_, hd⟩
      · exact ⟨rfl, rfl, hempty⟩
      · obtain ⟨rfl, rfl⟩ := Finmap.of_lookup_singleton hd
        exact ⟨rfl, rfl, hempty⟩
  refine ⟨hservice, hempty, hservice, hempty, ?_, ?_, ?_, ?_⟩
  · intro name d hd
    exact ⟨(hcases hd).2.2, (hcases hd).2.2⟩
  · intro name d hd
    cases hd
  · intro name d hd
    rw [(hcases hd).1]
    exact hempty
  · intro name d hd
    rw [(hcases hd).2.1]
    exact hempty

lemma linkedConfig_refers {name service : String} (h : linkedConfig.Refers name service) :
    name = "web" ∧ service = "db" := by
  obtain ⟨d, hd, key, parts, hvalue, hmem⟩ := h
  have hplain : ¬ ∃ value, plainDef.env.lookup key = some value := by
    rintro ⟨value, h⟩
    cases h
  rcases Finmap.lookup_insert_eq_some.mp hd with ⟨_, rfl⟩ | ⟨_, hd⟩
  · exact absurd ⟨_, hvalue⟩ hplain
  · rcases Finmap.lookup_insert_eq_some.mp hd with ⟨rfl, rfl⟩ | ⟨_, hd⟩
    · obtain ⟨_, heq⟩ := Finmap.of_lookup_singleton hvalue
      cases heq
      exact ⟨rfl, by simpa using hmem⟩
    · obtain ⟨_, rfl⟩ := Finmap.of_lookup_singleton hd
      exact absurd ⟨_, hvalue⟩ hplain

lemma linkedConfig_acyclic : linkedConfig.Acyclic := by
  intro name h
  -- a reference starts at one service and ends at another, so none follows another
  obtain ⟨_, hfirst, _⟩ := Relation.TransGen.head'_iff.mp h
  obtain ⟨_, _, hlast⟩ := Relation.TransGen.tail'_iff.mp h
  have hweb := (linkedConfig_refers hfirst).1
  have hdb := (linkedConfig_refers hlast).2
  exact absurd (hweb.symm.trans hdb) (by decide)

lemma linked_deploysTo (es : List Surrounding) {names done : List String}
    (hsmooth : Guarded stepDeploy Smooth (linkedWorld, deployReport demoCtx linkedConfig)
      (es.map .inl))
    (hrun : ((run stepDeploy (linkedWorld, deployReport demoCtx linkedConfig) (es.map .inl)).bind
      fun s => s.2.outcome.map fun o => (planned o, succeeded o)) = some (names, done)) :
    ∃ o, DeploysTo demoCtx linkedConfig linkedWorld o ∧ planned o = names ∧ succeeded o = done := by
  obtain ⟨⟨w', p⟩, hs, hobs⟩ := Option.bind_eq_some_iff.mp hrun
  obtain ⟨o, ho, heq⟩ := Option.map_eq_some_iff.mp hobs
  obtain ⟨hplanned, hdone⟩ := Prod.mk.inj heq
  exact ⟨o, ⟨es.map .inl, w', p, hsmooth, hs, ho⟩, hplanned, hdone⟩

lemma linked_dbWebLog : ∃ o, DeploysTo demoCtx linkedConfig linkedWorld o ∧
    planned o = ["db", "web", "log"] ∧ succeeded o = ["db", "web", "log"] :=
  linked_deploysTo dbWebLog (by decide +kernel) (by decide +kernel)

theorem deploy_succeeds_for_same_services_linked :
    ∃ o₁ o₂, DeploysTo demoCtx linkedConfig linkedWorld o₁ ∧
      DeploysTo demoCtx linkedConfig linkedWorld o₂ ∧ planned o₁ ≠ planned o₂ ∧
      ∀ name, name ∈ succeeded o₁ ↔ name ∈ succeeded o₂ := by
  obtain ⟨o₁, h₁, hplanned₁, _⟩ := linked_dbWebLog
  obtain ⟨o₂, h₂, hplanned₂, _⟩ : ∃ o, DeploysTo demoCtx linkedConfig linkedWorld o ∧
      planned o = ["log", "db", "web"] ∧ succeeded o = ["log", "db", "web"] :=
    linked_deploysTo logDbWeb (by decide +kernel) (by decide +kernel)
  have hside : linkedConfig.SameSide (planned o₁) (planned o₂) := by
    intro name service hrefers
    obtain ⟨rfl, rfl⟩ := linkedConfig_refers hrefers
    rw [hplanned₁, hplanned₂]
    decide
  refine ⟨o₁, o₂, h₁, h₂, ?_, ?_⟩
  · rw [hplanned₁, hplanned₂]
    decide
  · exact deploy_succeeds_for_same_services demoCtx linkedConfig linkedConfig_acyclic linkedCmds
      linkedWorld rfl o₁ o₂ h₁ h₂ hside

/-- The config is accepted and has no cycle, but in one of two orders the service that needs the
address comes before the one that gets it, and fails. -/
theorem reference_before_address_fails : linkedOrders.Of linkedRaw ∧
      resolve demoParsers linkedOrders linkedRaw = .ok linkedConfig ∧ linkedConfig.Acyclic ∧
      ∃ o₁ o₂, DeploysTo demoCtx linkedConfig linkedWorld o₁ ∧
        DeploysTo demoCtx linkedConfig linkedWorld o₂ ∧
        planned o₁ = ["db", "web", "log"] ∧ succeeded o₁ = ["db", "web", "log"] ∧
        planned o₂ = ["web", "db", "log"] ∧ succeeded o₂ = ["db", "log"] := by
  obtain ⟨o₁, h₁, hplanned₁, hdone₁⟩ := linked_dbWebLog
  obtain ⟨o₂, h₂, hplanned₂, hdone₂⟩ : ∃ o, DeploysTo demoCtx linkedConfig linkedWorld o ∧
      planned o = ["web", "db", "log"] ∧ succeeded o = ["db", "log"] :=
    linked_deploysTo webDbLog (by decide +kernel) (by decide +kernel)
  exact ⟨linkedOrders_of, rfl, linkedConfig_acyclic, o₁, o₂, h₁, h₂, hplanned₁, hdone₁, hplanned₂,
    hdone₂⟩

end Mill
