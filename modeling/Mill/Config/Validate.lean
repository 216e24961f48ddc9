import Mill.Config.Parse

/-! Resolving a raw config. Errors are collected over the whole config. The maps of the raw
config are hash maps: the orders in which one call visits them are a parameter, and the routes
and volumes of a service come out in these orders. -/

namespace Mill

def constraint (ok : Bool) (path message : String) : List ConfigError :=
  if ok then [] else [.constraint path message]

def checkCpu (path : String) (cpu : ℚ) : List ConfigError :=
  constraint (0 < cpu) path "cpu must be greater than 0"

def checkPort (path : String) (port : Nat) : List ConfigError :=
  constraint (port ≠ 0) path "port must be greater than 0"

def checkHealthPath (path healthPath : String) : List ConfigError :=
  constraint (healthPath.toList.head? = some '/') path
    s!"health path must start with '/', got '{healthPath}'"

def checkVolume (path : String) (ephemeral : Bool) (size : Option ByteSize) : List ConfigError :=
  constraint (ephemeral || size.isSome) path "persistent volume must have a size"

lemma single_constraint (ok : Bool) (path message : String) :
    ∀ e ∈ constraint ok path message, e.Single := by
  intro e he
  unfold constraint at he
  split_ifs at he
  · cases he
  · rw [List.mem_singleton.mp he]
    trivial

def finish {α : Type} (errors : List ConfigError) (value : α) : Except ConfigError α :=
  match errors with
  | [] => .ok value
  | [e] => .error e
  | errors => .error (.multiple errors)

lemma finish_eq_ok {α : Type} {errors : List ConfigError} {value result : α} :
    finish errors value = .ok result ↔ errors = [] ∧ value = result := by
  match errors with
  | [] => simp only [finish, Except.ok.injEq, true_and]
  | [e] => simp only [finish, reduceCtorEq, false_and]
  | e :: e' :: errors => simp only [finish, reduceCtorEq, false_and]

/-- The orders in which one call of `resolve` visits its maps, each given by its keys. The maps
that it builds have orders of their own (`refService` and so on), which the check of the
references visits; keys of what was not resolved are passed over. -/
structure Orders where
  service : List String
  task : List String
  env : String → List String
  route : String → List String
  volume : String → List String
  refService : List String
  refTask : List String
  refEnv : String → List String

structure Orders.Of (o : Orders) (raw : RawConfig) : Prop where
  service : Finmap.Enumerates o.service raw.service
  task : Finmap.Enumerates o.task raw.task
  refService : Finmap.Enumerates o.refService raw.service
  refTask : Finmap.Enumerates o.refTask raw.task
  serviceEnv : ∀ name d, raw.service.lookup name = some d →
    Finmap.Enumerates (o.env s!"service.{name}") d.env ∧
      Finmap.Enumerates (o.refEnv s!"service.{name}") d.env
  taskEnv : ∀ name d, raw.task.lookup name = some d →
    Finmap.Enumerates (o.env s!"task.{name}") d.env ∧
      Finmap.Enumerates (o.refEnv s!"task.{name}") d.env
  route : ∀ name d, raw.service.lookup name = some d → Finmap.Enumerates (o.route name) d.route
  volume : ∀ name d, raw.service.lookup name = some d → Finmap.Enumerates (o.volume name) d.volume

section

variable (p : Parsers) (o : Orders)

def resolveHealth (path : String) (h : RawHealthCheck) : HealthCheck × List ConfigError :=
  let (interval, errors) := parseDuration p s!"{path}.health.interval" h.interval
  ({ path := h.path, interval, failureThreshold := h.failureThreshold.getD 3 },
    errors ++ checkHealthPath s!"{path}.health.path" h.path)

def resolveRoute (hostname : String) (r : RawRouteDef) : RouteDef :=
  { hostname, path := r.path, websocket := r.websocket }

def resolveVolume (path name : String) (raw : RawVolumeDef) : VolumeDef × List ConfigError :=
  let volPath := s!"{path}.volume.{name}"
  let parsed := raw.size.map fun s => parseByteSize p s!"{volPath}.size" s
  let size := parsed.map Prod.fst
  ({ name, path := raw.path, size, ephemeral := raw.ephemeral },
    (parsed.map Prod.snd).getD [] ++ checkVolume volPath raw.ephemeral size)

def serviceErrors (name : String) (raw : RawServiceDef) : List ConfigError :=
  let path := s!"service.{name}"
  (parseByteSize p s!"{path}.memory" raw.memory).2 ++ checkCpu s!"{path}.cpu" raw.cpu ++
    checkPort s!"{path}.port" raw.port ++ (parseEnvMap path raw.env (o.env path)).2 ++
    ((raw.health.map (resolveHealth p path)).map Prod.snd).getD [] ++
    (raw.volume.visit (o.volume name)).flatMap fun v => (resolveVolume p path v.1 v.2).2

def parsedService (name : String) (raw : RawServiceDef) : ServiceDef :=
  let path := s!"service.{name}"
  { image := raw.image
    port := raw.port
    replicas := raw.replicas
    resources := { cpu := raw.cpu, memory := (parseByteSize p s!"{path}.memory" raw.memory).1 }
    env := (parseEnvMap path raw.env (o.env path)).1
    command := raw.command
    health := (raw.health.map (resolveHealth p path)).map Prod.fst
    routes := (raw.route.visit (o.route name)).map fun r => resolveRoute r.1 r.2
    volumes := (raw.volume.visit (o.volume name)).map fun v => (resolveVolume p path v.1 v.2).1 }

def resolveService (name : String) (raw : RawServiceDef) : Except ConfigError ServiceDef :=
  finish (serviceErrors p o name raw) (parsedService p o name raw)

def resolveTask (name : String) (raw : RawTaskDef) : Except ConfigError TaskDef :=
  let path := s!"task.{name}"
  let (memory, memoryErrors) := parseByteSize p s!"{path}.memory" raw.memory
  let (timeout, timeoutErrors) := parseDuration p s!"{path}.timeout" raw.timeout
  let (env, envErrors) := parseEnvMap path raw.env (o.env path)
  finish (memoryErrors ++ timeoutErrors ++ checkCpu s!"{path}.cpu" raw.cpu ++ envErrors)
    { image := raw.image
      resources := { cpu := raw.cpu, memory }
      timeout
      env
      command := raw.command }

/-- What `resolve` makes of one service or task: it is kept, or its errors are. -/
def collected {α : Type} : Except ConfigError α → Option α × List ConfigError
  | .ok value => (some value, [])
  | .error (.multiple errors) => (none, errors)
  | .error e => (none, [e])

lemma collected_finish {α : Type} {errors : List ConfigError} (h : ∀ e ∈ errors, e.Single)
    (value : α) :
    collected (finish errors value) = (if errors = [] then some value else none, errors) := by
  match errors with
  | [] => rfl
  | [.invalidField _ _] | [.unknownServiceRef _ _] | [.constraint _ _] => rfl
  | [.multiple _] => exact absurd (h _ List.mem_cons_self) not_false
  | _ :: _ :: _ => rfl

def checkEnvRefs (parentPath : String) (env : Finmap fun _ : String => EnvValue)
    (defined : List String) (order : List String) : List ConfigError :=
  (env.visit order).flatMap fun (key, value) =>
    match value with
    | .literal _ => []
    | .interpolated parts => parts.filterMap fun
      | .serviceAddress service =>
        if service ∈ defined then none
        else some (.unknownServiceRef s!"{parentPath}.env.{key}" service)
      | .literal _ | .secret _ => none

def checkServiceRefs (services : Finmap fun _ : String => ServiceDef)
    (tasks : Finmap fun _ : String => TaskDef) (defined : List String) : List ConfigError :=
  ((services.visit o.refService).flatMap fun (name, svc) =>
      checkEnvRefs s!"service.{name}" svc.env defined (o.refEnv s!"service.{name}")) ++
    (tasks.visit o.refTask).flatMap fun (name, task) =>
      checkEnvRefs s!"task.{name}" task.env defined (o.refEnv s!"task.{name}")

def resolve (raw : RawConfig) : Except ConfigError ClusterConfig :=
  let services := Finmap.collect (fun name d => collected (resolveService p o name d))
    (raw.service.visit o.service)
  let tasks := Finmap.collect (fun name d => collected (resolveTask p o name d))
    (raw.task.visit o.task)
  let defined := (raw.service.visit o.service).map Prod.fst
  finish (services.2 ++ tasks.2 ++ checkServiceRefs o services.1 tasks.1 defined)
    { services := services.1, tasks := tasks.1 }

end

variable {p : Parsers} {o : Orders} {raw : RawConfig} {config : ClusterConfig}

lemma single_resolveHealth (path : String) (h : RawHealthCheck) :
    ∀ e ∈ (resolveHealth p path h).2, e.Single := by
  intro e he
  rcases List.mem_append.mp he with he | he
  · exact single_parseDuration p _ _ e he
  · exact single_constraint _ _ _ e he

lemma single_resolveVolume (path name : String) (raw : RawVolumeDef) :
    ∀ e ∈ (resolveVolume p path name raw).2, e.Single := by
  intro e he
  rcases List.mem_append.mp he with he | he
  · cases hsize : raw.size with
    | none =>
      rw [hsize] at he
      cases he
    | some =>
      rw [hsize] at he
      exact single_parseByteSize p _ _ e he
  · exact single_constraint _ _ _ e he

lemma single_serviceErrors (name : String) (raw : RawServiceDef) :
    ∀ e ∈ serviceErrors p o name raw, e.Single := by
  intro e he
  simp only [serviceErrors, List.mem_append] at he
  rcases he with ((((he | he) | he) | he) | he) | he
  · exact single_parseByteSize p _ _ e he
  · exact single_constraint _ _ _ e he
  · exact single_constraint _ _ _ e he
  · exact single_parseEnvMap _ _ _ e he
  · cases hhealth : raw.health with
    | none =>
      rw [hhealth] at he
      cases he
    | some health =>
      rw [hhealth] at he
      exact single_resolveHealth _ health e he
  · obtain ⟨v, -, he⟩ := List.mem_flatMap.mp he
    exact single_resolveVolume _ _ _ e he

lemma serviceErrors_of_resolve (ho : o.Of raw) (h : resolve p o raw = .ok config) {name : String}
    {d : RawServiceDef} (hd : raw.service.lookup name = some d) :
    serviceErrors p o name d = [] := by
  rw [resolve, finish_eq_ok] at h
  obtain ⟨herrors, -⟩ := h
  simp only [List.append_eq_nil_iff, Finmap.collect_errors, List.flatMap_eq_nil_iff] at herrors
  have hmem : (name, d) ∈ raw.service.visit o.service := ho.service.mem_visit_iff.mpr hd
  have hsnd := herrors.1.1 (name, d) hmem
  rw [resolveService, collected_finish (single_serviceErrors name d)] at hsnd
  exact hsnd

lemma lookup_services_of_resolve (ho : o.Of raw) (h : resolve p o raw = .ok config)
    (name : String) :
    config.services.lookup name = (raw.service.lookup name).map (parsedService p o name) := by
  have hnone (d : RawServiceDef) (hd : raw.service.lookup name = some d) :=
    serviceErrors_of_resolve ho h hd
  rw [resolve, finish_eq_ok] at h
  obtain ⟨-, rfl⟩ := h
  rw [ho.service.lookup_collect]
  cases hd : raw.service.lookup name with
  | none => rfl
  | some d =>
    rw [Option.bind_some, resolveService, collected_finish (single_serviceErrors name d),
      if_pos (hnone d hd)]
    rfl

lemma pos_of_checkCpu {path : String} {cpu : ℚ} (h : checkCpu path cpu = []) : 0 < cpu := by
  unfold checkCpu constraint at h
  split_ifs at h with hcpu
  exact of_decide_eq_true hcpu

lemma cpu_pos_of_resolve (ho : o.Of raw) (h : resolve p o raw = .ok config) :
    (∀ name d, config.services.lookup name = some d → 0 < d.resources.cpu) ∧
      ∀ name d, config.tasks.lookup name = some d → 0 < d.resources.cpu := by
  constructor
  · intro name d hd
    rw [lookup_services_of_resolve ho h, Option.map_eq_some_iff] at hd
    obtain ⟨r, hr, rfl⟩ := hd
    have hnone := serviceErrors_of_resolve ho h hr
    simp only [serviceErrors, List.append_eq_nil_iff] at hnone
    exact pos_of_checkCpu hnone.1.1.1.1.2
  · intro name d hd
    rw [resolve, finish_eq_ok] at h
    obtain ⟨-, rfl⟩ := h
    rw [ho.task.lookup_collect, Option.bind_eq_some_iff] at hd
    obtain ⟨r, -, hcollected⟩ := hd
    have hresolved : resolveTask p o name r = .ok d := by
      unfold collected at hcollected
      split at hcollected
      · rename_i value hvalue
        cases hcollected
        exact hvalue
      · cases hcollected
      · cases hcollected
    simp only [resolveTask, finish_eq_ok, List.append_eq_nil_iff] at hresolved
    obtain ⟨herrors, rfl⟩ := hresolved
    exact pos_of_checkCpu herrors.1.2

end Mill
