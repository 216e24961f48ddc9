import Mill.Config.Validate
import Mill.Node.DeployTrace

/-! Deploying the same file twice. -/

namespace Mill

section

variable {p : Parsers} {raw : RawConfig} {o₁ o₂ : Orders} {c₁ c₂ : ClusterConfig}
  {name : String} {d : RawServiceDef}

lemma hostnames_parsedService {o : Orders} (h : Finmap.Enumerates (o.route name) d.route) :
    (parsedService p o name d).routes.map RouteDef.hostname = o.route name := by
  have hfst : RouteDef.hostname ∘ (fun r : String × RawRouteDef => resolveRoute r.1 r.2) =
      Prod.fst := rfl
  rw [parsedService, List.map_map, hfst, h.map_fst_visit]

lemma volumeNames_parsedService {o : Orders} (h : Finmap.Enumerates (o.volume name) d.volume) :
    (parsedService p o name d).volumes.map VolumeDef.name = o.volume name := by
  have hfst : VolumeDef.name ∘ (fun v : String × RawVolumeDef =>
      (resolveVolume p s!"service.{name}" v.1 v.2).1) = Prod.fst := rfl
  rw [parsedService, List.map_map, hfst, h.map_fst_visit]

lemma parsedService_eq_iff (h₁ : o₁.Of raw) (h₂ : o₂.Of raw)
    (hd : raw.service.lookup name = some d) :
    parsedService p o₁ name d = parsedService p o₂ name d ↔
      o₁.route name = o₂.route name ∧ o₁.volume name = o₂.volume name := by
  constructor
  · intro heq
    constructor
    · have hroutes := congrArg (fun s => s.routes.map RouteDef.hostname) heq
      simpa only [hostnames_parsedService (h₁.route name d hd),
        hostnames_parsedService (h₂.route name d hd)] using hroutes
    · have hvolumes := congrArg (fun s => s.volumes.map VolumeDef.name) heq
      simpa only [volumeNames_parsedService (h₁.volume name d hd),
        volumeNames_parsedService (h₂.volume name d hd)] using hvolumes
  · rintro ⟨hroute, hvolume⟩
    have henv := parseEnvMap_eq (h₁.serviceEnv name d hd).1 (h₂.serviceEnv name d hd).1
      s!"service.{name}"
    simp only [parsedService, hroute, hvolume, henv]

/-- Resolving the same file twice gives two configs between which the diff finds nothing to do
exactly if the route map and the volume map of every service were visited in the same order both
times. -/
theorem redeploy_unchanged_iff (h₁ : o₁.Of raw) (h₂ : o₂.Of raw) (hc₁ : resolve p o₁ raw = .ok c₁)
    (hc₂ : resolve p o₂ raw = .ok c₂) (newOrder oldOrder : List (Σ _ : String, ServiceDef))
    (hnew : c₂.services.entries = newOrder) (hold : c₁.services.entries = oldOrder) :
    ((diffConfig (some c₁) c₂ newOrder oldOrder).added = [] ∧
      (diffConfig (some c₁) c₂ newOrder oldOrder).removed = [] ∧
      (diffConfig (some c₁) c₂ newOrder oldOrder).changed = []) ↔
    ∀ name ∈ raw.service, o₁.route name = o₂.route name ∧ o₁.volume name = o₂.volume name := by
  have hlookup₁ : ∀ name, serviceDef (some c₁) name =
      (raw.service.lookup name).map (parsedService p o₁ name) := lookup_services_of_resolve h₁ hc₁
  have hlookup₂ : ∀ name, serviceDef (some c₂) name =
      (raw.service.lookup name).map (parsedService p o₂ name) := lookup_services_of_resolve h₂ hc₂
  have hadded : (diffConfig (some c₁) c₂ newOrder oldOrder).added = [] := by
    rw [List.eq_nil_iff_forall_not_mem]
    rintro ⟨name, svc⟩ hmem
    obtain ⟨hsome, hnone⟩ := (mem_added hnew).mp hmem
    rw [hlookup₂, Option.map_eq_some_iff] at hsome
    obtain ⟨d, hd, -⟩ := hsome
    rw [hlookup₁, hd] at hnone
    cases hnone
  have hremoved : (diffConfig (some c₁) c₂ newOrder oldOrder).removed = [] := by
    rw [List.eq_nil_iff_forall_not_mem]
    intro name hmem
    have hvisited : (((some c₁).map ClusterConfig.services).getD ∅).entries = oldOrder := hold
    obtain ⟨hsome, hnone⟩ := (mem_removed hvisited).mp hmem
    rw [hlookup₂, Option.map_eq_none_iff] at hnone
    rw [hlookup₁, hnone] at hsome
    exact hsome rfl
  have hchanged : (diffConfig (some c₁) c₂ newOrder oldOrder).changed = [] ↔
      ∀ name d, raw.service.lookup name = some d →
        parsedService p o₁ name d = parsedService p o₂ name d := by
    rw [List.eq_nil_iff_forall_not_mem]
    constructor
    · intro hnone name d hd
      by_contra hne
      refine hnone (name, parsedService p o₂ name d) ((mem_changed hnew).mpr ⟨?_, ?_⟩)
      · rw [hlookup₂, hd, Option.map_some]
      · exact ⟨parsedService p o₁ name d, by rw [hlookup₁, hd, Option.map_some], hne⟩
    · rintro hsame ⟨name, svc⟩ hmem
      obtain ⟨hsome₂, svc', hsome₁, hne⟩ := (mem_changed hnew).mp hmem
      rw [hlookup₂, Option.map_eq_some_iff] at hsome₂
      obtain ⟨d, hd, rfl⟩ := hsome₂
      rw [hlookup₁, hd, Option.map_some, Option.some.injEq] at hsome₁
      exact hne (hsome₁ ▸ hsame name d hd)
  rw [hchanged]
  constructor
  · rintro ⟨-, -, hsame⟩ name hname
    obtain ⟨d, hd⟩ := Option.isSome_iff_exists.mp (Finmap.lookup_isSome.mpr hname)
    exact (parsedService_eq_iff h₁ h₂ hd).mp (hsame name d hd)
  · intro horders
    refine ⟨hadded, hremoved, fun name d hd => ?_⟩
    exact (parsedService_eq_iff h₁ h₂ hd).mpr (horders name (Finmap.mem_of_lookup_eq_some hd))

end

def demoParsers : Parsers := ⟨fun _ => .ok 64, fun _ => .ok 0⟩

def demoRawService : RawServiceDef where
  image := "web:1"
  port := 80
  replicas := 1
  cpu := 1
  memory := "64M"
  env := ∅
  health := none
  route := (Finmap.singleton "a.example" ⟨"/", false⟩).insert "b.example" ⟨"/", false⟩
  volume := ∅
  command := none

def demoRaw : RawConfig := ⟨Finmap.singleton "web" demoRawService, ∅⟩

def demoOrders (hostnames : List String) : Orders where
  service := ["web"]
  task := []
  env _ := []
  route _ := hostnames
  volume _ := []
  refService := ["web"]
  refTask := []
  refEnv _ := []

lemma demoOrders_of {hostnames : List String}
    (h : Finmap.Enumerates hostnames demoRawService.route) : (demoOrders hostnames).Of demoRaw := by
  have hservice : Finmap.Enumerates ["web"] demoRaw.service :=
    ⟨by decide, fun k => by rw [List.mem_singleton, demoRaw, Finmap.mem_singleton]⟩
  have hempty {V : Type} : Finmap.Enumerates [] (∅ : Finmap fun _ : String => V) :=
    ⟨List.nodup_nil, fun k => iff_of_false List.not_mem_nil Finmap.notMem_empty⟩
  have hweb {name : String} {d : RawServiceDef} (hd : demoRaw.service.lookup name = some d) :
      d = demoRawService := (Finmap.of_lookup_singleton hd).2
  refine ⟨hservice, hempty, hservice, hempty, ?_, ?_, ?_, ?_⟩
  · intro name d hd
    rw [hweb hd]
    exact ⟨hempty, hempty⟩
  · intro name d hd
    cases hd
  · intro name d hd
    rw [hweb hd]
    exact h
  · intro name d hd
    rw [hweb hd]
    exact hempty

lemma demoOrders_hostnames : Finmap.Enumerates ["a.example", "b.example"] demoRawService.route ∧
    Finmap.Enumerates ["b.example", "a.example"] demoRawService.route := by
  have hmem (k : String) : k ∈ demoRawService.route ↔ k = "b.example" ∨ k = "a.example" := by
    rw [demoRawService, Finmap.mem_insert, Finmap.mem_singleton]
  refine ⟨⟨by decide, fun k => ?_⟩, ⟨by decide, fun k => ?_⟩⟩
  · rw [hmem, List.mem_pair, or_comm]
  · rw [hmem, List.mem_pair]

def demoResolved (hostnames : List String) : ClusterConfig :=
  ⟨(∅ : Finmap fun _ : String => ServiceDef).insert "web"
    (parsedService demoParsers (demoOrders hostnames) "web" demoRawService), ∅⟩

/-- The same file is resolved twice and its routes come in two orders: the service is updated. -/
theorem route_order_changes_service : ∃ o₁ o₂ : Orders, o₁.Of demoRaw ∧ o₂.Of demoRaw ∧
      ∃ c₁ c₂, resolve demoParsers o₁ demoRaw = .ok c₁ ∧ resolve demoParsers o₂ demoRaw = .ok c₂ ∧
      ∃ newOrder oldOrder : List (Σ _ : String, ServiceDef),
        c₂.services.entries = newOrder ∧ c₁.services.entries = oldOrder ∧
        (diffConfig (some c₁) c₂ newOrder oldOrder).changed.map Prod.fst = ["web"] := by
  refine ⟨demoOrders ["a.example", "b.example"], demoOrders ["b.example", "a.example"],
    demoOrders_of demoOrders_hostnames.1, demoOrders_of demoOrders_hostnames.2,
    demoResolved ["a.example", "b.example"], demoResolved ["b.example", "a.example"], rfl, rfl,
    _, _, rfl, rfl, ?_⟩
  decide +kernel

theorem redeploy_unchanged_same_order :
    ∃ o : Orders, o.Of demoRaw ∧ ∃ c newOrder, resolve demoParsers o demoRaw = .ok c ∧
      c.services.entries = (newOrder : List (Σ _ : String, ServiceDef)) ∧
      (diffConfig (some c) c newOrder newOrder).changed = [] := by
  have ho := demoOrders_of demoOrders_hostnames.1
  have hc : resolve demoParsers (demoOrders ["a.example", "b.example"]) demoRaw =
      .ok (demoResolved ["a.example", "b.example"]) := rfl
  refine ⟨_, ho, demoResolved ["a.example", "b.example"], _, hc, rfl, ?_⟩
  exact ((redeploy_unchanged_iff ho ho hc hc _ _ rfl rfl).mpr fun _ _ => ⟨rfl, rfl⟩).2.2

end Mill
